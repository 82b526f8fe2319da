import OpenPlay.Foundation.System
import OpenPlay.Receiver.SessionLoop

/-!
# What one turn of the loop can do

The handlers of `SessionLoop` are functions; this file reads each of their
branches off as a rule.  `Reacts s input s' effects` lists everything one turn
of `select!` can do to the state and to the world, guards included, and
`react_reacts` says that the code does nothing else.  Every invariant of the
loop is a case analysis over these rules, and none of them unfolds a handler.

`sessionLoop` is the resulting system: any input may come next, in any order,
from any connection.
-/

namespace OpenPlay

/-- The three calls that set a media session up for the offer `sdp` succeed. -/
def Surroundings.accepts (around : Surroundings) (sdp : String) : Bool :=
  around.withFrameHandler.isOk && around.start.isOk &&
    (around.setRemoteDescription sdp).isOk

/-- One turn of the loop: the four arms of `select!`, and a decoded frame
arriving from the pipeline's own thread in between. -/
inductive Input
  | message (incoming : IncomingMessage) (around : Surroundings)
  | decision (decision : Decision)
  | webrtc (event : WebRtcEvent)
  | tick (seen : Liveness)
  | frame (frame : VideoFrame)

namespace SessionLoop

def react (s : SessionLoop) : Input → SessionLoop × List Effect
  | .message incoming around => s.handleMessage incoming around
  | .decision decision => s.handleDecision decision
  | .webrtc event => s.handleWebrtcEvent event
  | .tick seen => s.dropDeadConnections seen
  | .frame frame => ({ s with frame := s.frame.store frame }, [])

/-! ## Names for the parts of a rule -/

/-- The state after the active session was taken and `status` put on screen. -/
def afterEnd (s : SessionLoop) (status : Status) : SessionLoop :=
  { s with active := none, frame := s.frame.clear, status := status }

/-- The effects of ending the session `a`. -/
def endEffects (a : Active) (reason : SessionEndReason) (status : Status) :
    List Effect :=
  (a.media.toList.map fun media => Effect.stopPipeline media.peer) ++
    [.send a.reply (.sessionEnd reason), .setStatus status]

/-- The pending map after the liveness sweep. -/
def swept (s : SessionLoop) (seen : Liveness) : SessionLoop :=
  { s with pending := s.pending.retain fun _ p => seen.atRetain p.reply.id }

/-- The framerate a request is granted. -/
def grantedFramerate (s : SessionLoop) (capabilities : Capabilities) : UInt32 :=
  min (capabilities.maxFramerate.getD s.config.framerate) s.config.framerate

/-- The pending entry a request leaves behind. -/
def entryOf (s : SessionLoop) (incoming : IncomingMessage) (displayName : String)
    (capabilities : Capabilities) : Pending :=
  ⟨incoming.reply, displayName, s.grantedFramerate capabilities⟩

/-- `incoming` is a request that gets through the four gates of
`handle_session_request`. -/
structure Admits (s : SessionLoop) (incoming : IncomingMessage) (displayName : String)
    (capabilities : Capabilities) : Prop where
  request : ∃ senderId, incoming.message =
    .sessionRequest senderId displayName protocolVersion capabilities
  h264 : "h264" ∈ capabilities.videoCodecs
  own : ∀ a, s.active = some a → a.connection = incoming.connection
  first : ∀ e, s.pending.first = some e → e.1 = incoming.connection

/-- The session an approval of `p` makes active. -/
def sessionOf (s : SessionLoop) (connection : ConnectionId) (p : Pending) : Active :=
  ⟨s.activations, connection, p.reply, p.displayName, none⟩

/-- What the receiver tells an approved sender. -/
def acceptance (s : SessionLoop) (p : Pending) : SignalingMessage :=
  .sessionAccept s.config.displayName
    ⟨"h264", none, s.config.maxBitrateKbps, p.framerate⟩

@[simp] theorem entryOf_displayName (s : SessionLoop) (incoming : IncomingMessage)
    (displayName : String) (capabilities : Capabilities) :
    (s.entryOf incoming displayName capabilities).displayName = displayName := rfl

@[simp] theorem entryOf_reply (s : SessionLoop) (incoming : IncomingMessage)
    (displayName : String) (capabilities : Capabilities) :
    (s.entryOf incoming displayName capabilities).reply = incoming.reply := rfl

@[simp] theorem sessionOf_connection (s : SessionLoop) (connection : ConnectionId)
    (p : Pending) : (s.sessionOf connection p).connection = connection := rfl

@[simp] theorem sessionOf_reply (s : SessionLoop) (connection : ConnectionId)
    (p : Pending) : (s.sessionOf connection p).reply = p.reply := rfl

@[simp] theorem sessionOf_displayName (s : SessionLoop) (connection : ConnectionId)
    (p : Pending) : (s.sessionOf connection p).displayName = p.displayName := rfl

theorem tearDown_eq {s : SessionLoop} {a : Active} (h : s.active = some a) :
    s.tearDown =
      (s.afterEnd s.idleStatus, endEffects a .userStopped s.idleStatus) := by
  simp [tearDown, takeActive, h, resetStatus, setStatus, idleStatus, afterEnd,
    endEffects]

theorem fail_eq {s : SessionLoop} {a : Active} (h : s.active = some a)
    (reason : String) :
    s.fail reason =
      (s.afterEnd (.failed reason), endEffects a .error (.failed reason)) := by
  simp [fail, takeActive, h, setStatus, afterEnd, endEffects]

/-- The answers of the media session that are passed on to its sender. -/
inductive Forwards : WebRtcEvent → SignalingMessage → Prop
  | answer (sdp : String) : Forwards (.localDescription .answer sdp) (.sdpAnswer sdp)
  | candidate (index : UInt32) (candidate : String) :
      Forwards (.iceCandidate index candidate) (.iceCandidate candidate none (some index))
  | complete : Forwards .iceGatheringComplete .iceComplete

/-! ## The rules -/

/-- `Reacts s input s' effects`: in state `s` the loop may turn `input` into the
state `s'` and the effects `effects`. -/
inductive Reacts (s : SessionLoop) :
    Input → SessionLoop → List Effect → Prop
  /-- Nothing to do: an answer to a request that is gone, an offer nobody
  approved, media without a session, a message that is not for the receiver. -/
  | ignored {input : Input} : Reacts s input s []
  | stored {frame : VideoFrame} :
      Reacts s (.frame frame) { s with frame := s.frame.store frame } []
  | refused {incoming : IncomingMessage} {around : Surroundings}
      {reason : RejectReason} (request : incoming.message.isSessionRequest = true) :
      Reacts s (.message incoming around) s
        [.send incoming.reply (.sessionReject reason)]
  | ponged {incoming : IncomingMessage} {around : Surroundings} {t : UInt64} :
      Reacts s (.message incoming around) s
        [.send incoming.reply (.pong t around.nowMillis)]
  /-- A request got through all four gates and is put on screen. -/
  | prompted {incoming : IncomingMessage} {around : Surroundings}
      {displayName : String} {capabilities : Capabilities}
      (admitted : s.Admits incoming displayName capabilities) :
      Reacts s (.message incoming around)
        { s with
          status := .pendingConsent displayName incoming.connection
          pending := s.pending.insert incoming.connection
            (s.entryOf incoming displayName capabilities) }
        [.setStatus (.pendingConsent displayName incoming.connection)]
  /-- A sender without a session takes its request back; the status stays. -/
  | withdrawn {incoming : IncomingMessage} {around : Surroundings}
      {reason : SessionEndReason} (message : incoming.message = .sessionEnd reason)
      (other : ∀ a, s.active = some a → a.connection ≠ incoming.connection) :
      Reacts s (.message incoming around)
        { s with pending := s.pending.erase incoming.connection } []
  | endedBySender {incoming : IncomingMessage} {around : Surroundings}
      {reason : SessionEndReason} {a : Active}
      (message : incoming.message = .sessionEnd reason) (was : s.active = some a)
      (owner : a.connection = incoming.connection) :
      Reacts s (.message incoming around)
        { s.afterEnd s.idleStatus with
          pending := s.pending.erase incoming.connection }
        (endEffects a .userStopped s.idleStatus)
  | candidate {incoming : IncomingMessage} {around : Surroundings} {a : Active}
      {media : Media} {index : UInt32} {candidate : String}
      (was : s.active = some a) (owner : a.connection = incoming.connection)
      (has : a.media = some media) :
      Reacts s (.message incoming around) s
        [.addIceCandidate media.peer index candidate]
  | offered {incoming : IncomingMessage} {around : Surroundings} {a : Active}
      {sdp : String} (message : incoming.message = .sdpOffer sdp)
      (was : s.active = some a) (owner : a.connection = incoming.connection)
      (none_yet : a.media = none) :
      Reacts s (.message incoming around)
        { s with active := some { a with media := some ⟨⟨a.session⟩⟩ } }
        [.buildPipeline incoming.connection ⟨a.session⟩]
  /-- The media session could not be set up; `built` tells whether its peer
  already existed by then. -/
  | offerFailed {incoming : IncomingMessage} {around : Surroundings} {a : Active}
      {sdp text : String} {built : List Effect}
      (message : incoming.message = .sdpOffer sdp)
      (was : s.active = some a) (owner : a.connection = incoming.connection)
      (none_yet : a.media = none) (fails : around.accepts sdp = false)
      (peer : built = [] ∨ built = [.buildPipeline incoming.connection ⟨a.session⟩]) :
      Reacts s (.message incoming around) (s.afterEnd (.failed text))
        (built ++ endEffects a .error (.failed text))
  | denied {decision : Decision} {p : Pending}
      (waiting : s.pending.lookup decision.connection = some p)
      (no : decision.accept = false) :
      Reacts s (.decision decision)
        { s with
          status := s.idleStatus
          pending := s.pending.erase decision.connection }
        [.send p.reply (.sessionReject .denied), .setStatus s.idleStatus]
  /-- The user's approval meets the request it was given for. -/
  | approved {decision : Decision} {p : Pending}
      (waiting : s.pending.lookup decision.connection = some p)
      (yes : decision.accept = true) :
      Reacts s (.decision decision)
        { s with
          status := .negotiating p.displayName
          pending := s.pending.erase decision.connection
          active := some (s.sessionOf decision.connection p)
          activations := s.activations + 1 }
        [.send p.reply (s.acceptance p), .setStatus (.negotiating p.displayName)]
  | forwarded {event : WebRtcEvent} {message : SignalingMessage} {a : Active}
      (was : s.active = some a) (forwards : Forwards event message) :
      Reacts s (.webrtc event) s [.send a.reply message]
  | connected {a : Active} (was : s.active = some a) :
      Reacts s (.webrtc .connected) { s with status := .streaming a.displayName }
        [.setStatus (.streaming a.displayName)]
  | disconnected {a : Active} (was : s.active = some a) :
      Reacts s (.webrtc .disconnected) (s.afterEnd s.idleStatus)
        (endEffects a .userStopped s.idleStatus)
  | mediaFailed {a : Active} {reason : String} (was : s.active = some a) :
      Reacts s (.webrtc (.failed reason)) (s.afterEnd (.failed reason))
        (endEffects a .error (.failed reason))
  /-- The tick found the active sender gone. -/
  | lost {seen : Liveness} {a : Active} (was : s.active = some a)
      (dead : seen.atActive a.reply.id = false) :
      Reacts s (.tick seen) ((s.swept seen).afterEnd s.idleStatus)
        (endEffects a .userStopped s.idleStatus)
  /-- The tick found the prompt on screen without a request behind it. -/
  | cleared {seen : Liveness}
      (alive : ∀ a, s.active = some a → seen.atActive a.reply.id = true)
      (stale : (s.swept seen).stalePrompt = true) :
      Reacts s (.tick seen) { s.swept seen with status := s.idleStatus }
        [.setStatus s.idleStatus]
  | ticked {seen : Liveness}
      (alive : ∀ a, s.active = some a → seen.atActive a.reply.id = true)
      (fresh : (s.swept seen).stalePrompt = false) :
      Reacts s (.tick seen) (s.swept seen) []

/-! ## The handlers follow the rules -/

theorem handleSessionRequest_reacts (s : SessionLoop) (incoming : IncomingMessage)
    (around : Surroundings) {senderId displayName : String} {version : UInt32}
    {capabilities : Capabilities}
    (request : incoming.message =
      .sessionRequest senderId displayName version capabilities) :
    Reacts s (.message incoming around)
      (s.handleSessionRequest incoming.connection incoming.reply displayName version
        capabilities).1
      (s.handleSessionRequest incoming.connection incoming.reply displayName version
        capabilities).2 := by
  have hrequest : incoming.message.isSessionRequest = true := by
    rw [request]
    rfl
  unfold handleSessionRequest
  split
  · exact .refused hrequest
  rename_i hversion
  split
  · exact .refused hrequest
  rename_i hcodec
  split
  · exact .refused hrequest
  rename_i hactive
  split
  · exact .refused hrequest
  rename_i hfirst
  rw [not_not] at hversion hcodec
  subst hversion
  refine .prompted ⟨⟨_, request⟩, ?_, ?_, ?_⟩
  · simpa using hcodec
  · intro a ha
    simpa [ha] using hactive
  · intro e he
    simpa [he] using hfirst

theorem handleDecision_reacts (s : SessionLoop) (decision : Decision) :
    Reacts s (.decision decision) (s.handleDecision decision).1
      (s.handleDecision decision).2 := by
  unfold handleDecision
  cases waiting : s.pending.lookup decision.connection with
  | none => exact .ignored
  | some p =>
      cases answer : decision.accept with
      | false =>
          have rule : Reacts s (.decision decision) _ _ := .denied waiting answer
          simpa [resetStatus, setStatus, idleStatus] using rule
      | true =>
          have rule : Reacts s (.decision decision) _ _ := .approved waiting answer
          simpa [setStatus, sessionOf, acceptance] using rule

theorem handleOffer_reacts (s : SessionLoop) (incoming : IncomingMessage)
    (around : Surroundings) {sdp : String} (message : incoming.message = .sdpOffer sdp) :
    Reacts s (.message incoming around)
      (s.handleOffer incoming.connection sdp around).1
      (s.handleOffer incoming.connection sdp around).2 := by
  unfold handleOffer
  cases was : s.active with
  | none => exact .ignored
  | some a =>
      dsimp only
      split_ifs with howner hmedia
      · exact .ignored
      · exact .ignored
      · rw [not_not] at howner
        have none_yet : a.media = none := by simpa using hmedia
        cases hbuild : around.withFrameHandler with
        | error e =>
            simp only [fail_eq was]
            refine .offerFailed message was howner none_yet ?_ (Or.inl rfl)
            simp [Surroundings.accepts, hbuild, Except.isOk, Except.toBool]
        | ok _ =>
            cases hstart : around.start with
            | error e =>
                simp only [fail_eq was]
                refine .offerFailed message was howner none_yet ?_ (Or.inr rfl)
                simp [Surroundings.accepts, hstart, Except.isOk, Except.toBool]
            | ok _ =>
                cases hremote : around.setRemoteDescription sdp with
                | error e =>
                    simp only [fail_eq was]
                    refine .offerFailed message was howner none_yet ?_ (Or.inr rfl)
                    simp [Surroundings.accepts, hremote, Except.isOk, Except.toBool]
                | ok _ => exact .offered message was howner none_yet

theorem handleMessage_reacts (s : SessionLoop) (incoming : IncomingMessage)
    (around : Surroundings) :
    Reacts s (.message incoming around) (s.handleMessage incoming around).1
      (s.handleMessage incoming around).2 := by
  cases message : incoming.message with
  | sessionRequest senderId displayName version capabilities =>
      simpa only [handleMessage, message] using
        s.handleSessionRequest_reacts incoming around message
  | sdpOffer sdp =>
      simpa only [handleMessage, message] using s.handleOffer_reacts incoming around message
  | iceCandidate candidate sdpMid index =>
      simp only [handleMessage, message]
      cases hmedia : s.mediaFor incoming.connection with
      | none => exact .ignored
      | some media =>
          simp only [mediaFor, Option.bind_eq_some_iff] at hmedia
          obtain ⟨a, was, m, has, hm⟩ := hmedia
          split_ifs at hm with owner
          cases hm
          exact .candidate was owner has
  | ping t =>
      simp only [handleMessage, message]
      exact .ponged
  | sessionEnd reason =>
      simp only [handleMessage, message]
      cases was : s.active with
      | none =>
          have rule : Reacts s (.message incoming around) _ _ :=
            .withdrawn message (by simp [was])
          simpa [ownsSession, was] using rule
      | some a =>
          by_cases owner : a.connection = incoming.connection
          · have rule : Reacts s (.message incoming around) _ _ :=
              .endedBySender message was owner
            simpa [ownsSession, was, owner, tearDown_eq was, afterEnd] using rule
          · have rule : Reacts s (.message incoming around) _ _ :=
              .withdrawn message (by simpa [was] using owner)
            simpa [ownsSession, was, owner] using rule
  | _ =>
      simp only [handleMessage, message]
      exact .ignored

theorem handleWebrtcEvent_reacts (s : SessionLoop) (event : WebRtcEvent) :
    Reacts s (.webrtc event) (s.handleWebrtcEvent event).1
      (s.handleWebrtcEvent event).2 := by
  unfold handleWebrtcEvent
  cases was : s.active with
  | none => exact .ignored
  | some a =>
      cases event with
      | localDescription kind sdp =>
          cases kind with
          | offer => exact .ignored
          | answer => exact .forwarded was (.answer sdp)
      | iceCandidate index candidate =>
          exact .forwarded was (.candidate index candidate)
      | iceGatheringComplete => exact .forwarded was .complete
      | connected => exact .connected was
      | disconnected =>
          rw [tearDown_eq was]
          exact .disconnected was
      | failed reason =>
          simp only [fail_eq was]
          exact .mediaFailed was

theorem dropDeadConnections_eq (s : SessionLoop) (seen : Liveness) :
    s.dropDeadConnections seen =
      if s.active.any fun a => ! seen.atActive a.reply.id then (s.swept seen).tearDown
      else if (s.swept seen).stalePrompt then (s.swept seen).resetStatus
      else (s.swept seen, []) := rfl

theorem dropDeadConnections_reacts (s : SessionLoop) (seen : Liveness) :
    Reacts s (.tick seen) (s.dropDeadConnections seen).1
      (s.dropDeadConnections seen).2 := by
  rw [dropDeadConnections_eq]
  split_ifs with hdead hstale
  · obtain ⟨a, was, dead⟩ := Option.any_eq_true _ _ |>.mp hdead
    have was' : (s.swept seen).active = some a := was
    rw [tearDown_eq was']
    exact .lost was (by simpa using dead)
  · refine .cleared ?_ hstale
    intro a was
    simpa [was] using hdead
  · refine .ticked ?_ (by simpa using hstale)
    intro a was
    simpa [was] using hdead

/-- **The code does nothing but what the rules say.** -/
theorem react_reacts (s : SessionLoop) (input : Input) :
    Reacts s input (s.react input).1 (s.react input).2 := by
  cases input with
  | message incoming around => exact s.handleMessage_reacts incoming around
  | decision decision => exact s.handleDecision_reacts decision
  | webrtc event => exact s.handleWebrtcEvent_reacts event
  | tick seen => exact s.dropDeadConnections_reacts seen
  | frame frame => exact .stored

/-! ## The rules that a guard decides

Where a guard settles which rule applies, the turn is computed outright. -/

/-- A request that gets through all four gates is put on screen. -/
theorem react_request {s : SessionLoop} {incoming : IncomingMessage}
    (around : Surroundings) {displayName : String} {capabilities : Capabilities}
    (admitted : s.Admits incoming displayName capabilities) :
    (s.react (.message incoming around)).1 =
      { s with
        status := .pendingConsent displayName incoming.connection
        pending := s.pending.insert incoming.connection
          (s.entryOf incoming displayName capabilities) } := by
  obtain ⟨⟨senderId, request⟩, h264, own, first⟩ := admitted
  have hcodec : (capabilities.videoCodecs.any fun c => c == "h264") = true := by
    simpa using h264
  have hactive : (s.active.any fun a => a.connection != incoming.connection) = false := by
    cases was : s.active with
    | none => rfl
    | some a => simpa using own a was
  have hfirst : (s.pending.first.any fun e => e.1 != incoming.connection) = false := by
    cases hfirst : s.pending.first with
    | none => rfl
    | some e => simpa using first e hfirst
  simp [react, handleMessage, request, handleSessionRequest, hcodec, hactive, hfirst,
    setStatus, entryOf, grantedFramerate]

theorem react_deny {s : SessionLoop} {decision : Decision} {p : Pending}
    (waiting : s.pending.lookup decision.connection = some p)
    (no : decision.accept = false) :
    (s.react (.decision decision)).1 =
      { s with
        status := s.idleStatus
        pending := s.pending.erase decision.connection } := by
  simp [react, handleDecision, waiting, no, resetStatus, setStatus, idleStatus]

theorem react_allow {s : SessionLoop} {c : ConnectionId} {p : Pending}
    (waiting : s.pending.lookup c = some p) :
    (s.react (.decision ⟨c, true⟩)).1 =
      { s with
        status := .negotiating p.displayName
        pending := s.pending.erase c
        active := some (s.sessionOf c p)
        activations := s.activations + 1 } := by
  simp [react, handleDecision, waiting, setStatus, sessionOf]

/-- An answer to a request that is gone does nothing. -/
theorem react_late_answer {s : SessionLoop} {decision : Decision}
    (gone : decision.connection ∉ s.pending) :
    s.react (.decision decision) = (s, []) := by
  have hlookup : s.pending.lookup decision.connection = none :=
    AList.lookup_eq_none.mpr gone
  simp [react, handleDecision, hlookup]

/-- What the media session has for its sender is passed on, and nothing else
happens. -/
theorem react_webrtc_forwards {s : SessionLoop} {a : Active} {event : WebRtcEvent}
    {message : SignalingMessage} (was : s.active = some a)
    (forwards : Forwards event message) :
    s.react (.webrtc event) = (s, [.send a.reply message]) := by
  cases forwards <;> simp [react, handleWebrtcEvent, was]

/-- An offer of the receiver's own peer goes nowhere. -/
theorem react_webrtc_offer (s : SessionLoop) (sdp : String) :
    s.react (.webrtc (.localDescription .offer sdp)) = (s, []) := by
  rw [react, handleWebrtcEvent]
  cases s.active <;> rfl

theorem react_webrtc_connected {s : SessionLoop} {a : Active}
    (was : s.active = some a) :
    s.react (.webrtc .connected) =
      ({ s with status := .streaming a.displayName },
        [.setStatus (.streaming a.displayName)]) := by
  simp [react, handleWebrtcEvent, was, setStatus]

theorem react_webrtc_disconnected {s : SessionLoop} {a : Active}
    (was : s.active = some a) :
    (s.react (.webrtc .disconnected)).1 = s.afterEnd s.idleStatus := by
  simp [react, handleWebrtcEvent, was, tearDown_eq was]

theorem react_webrtc_failed {s : SessionLoop} {a : Active} (was : s.active = some a)
    (reason : String) :
    (s.react (.webrtc (.failed reason))).1 = s.afterEnd (.failed reason) := by
  simp [react, handleWebrtcEvent, was, fail_eq was]

/-- An offer whose media session cannot be set up ends the session. -/
theorem react_offer_failed {s : SessionLoop} {incoming : IncomingMessage}
    {around : Surroundings} {sdp : String} {a : Active}
    (message : incoming.message = .sdpOffer sdp) (was : s.active = some a)
    (owner : a.connection = incoming.connection) (none_yet : a.media = none)
    (fails : around.accepts sdp = false) :
    ∃ text, (s.react (.message incoming around)).1 = s.afterEnd (.failed text) := by
  simp only [react, handleMessage, message, handleOffer, was, owner, none_yet,
    fail_eq was, ne_eq, not_true_eq_false, Option.isSome_none, Bool.false_eq_true,
    if_false]
  cases hbuild : around.withFrameHandler with
  | error e => exact ⟨_, rfl⟩
  | ok _ =>
      cases hstart : around.start with
      | error e => exact ⟨_, rfl⟩
      | ok _ =>
          cases hremote : around.setRemoteDescription sdp with
          | error e => exact ⟨_, rfl⟩
          | ok _ =>
              simp [Surroundings.accepts, hbuild, hstart, hremote, Except.isOk,
                Except.toBool] at fails

/-- A tick that finds the active sender gone ends its session. -/
theorem react_tick_lost {s : SessionLoop} {seen : Liveness} {a : Active}
    (was : s.active = some a) (dead : seen.atActive a.reply.id = false) :
    (s.react (.tick seen)).1 = (s.swept seen).afterEnd s.idleStatus := by
  have hdead : (s.active.any fun a => ! seen.atActive a.reply.id) = true := by
    simp [was, dead]
  have was' : (s.swept seen).active = some a := was
  rw [react, dropDeadConnections_eq, if_pos hdead, tearDown_eq was']
  rfl

end SessionLoop

/-! ## The loop as a system -/

/-- The page the window opens on: waiting, or a startup failure. -/
def Status.AtStartup : Status → Prop
  | .waiting | .failed _ => True
  | _ => False

/-- The session loop with every event allowed at any time. -/
def sessionLoop : Transition.System SessionLoop Input (List Effect) where
  init s := ∃ config status undiscoverable,
    Status.AtStartup status ∧ s = SessionLoop.new config status undiscoverable
  step s input := some (s.react input)

/-- The loop as `start` leaves it on a network it could advertise itself on. -/
def SessionLoop.startedWith (config : AppConfig) : SessionLoop :=
  SessionLoop.new config .waiting none

theorem sessionLoop_init (config : AppConfig) :
    sessionLoop.init (SessionLoop.startedWith config) :=
  ⟨config, .waiting, none, trivial, rfl⟩

abbrev LoopMove := Transition.Move SessionLoop Input (List Effect)

theorem sessionLoop_makes_iff {move : LoopMove} :
    sessionLoop.Makes move ↔
      move.source.react move.action = (move.target, move.output) := by
  simp [Transition.System.Makes, sessionLoop]

theorem react_of_makes {move : LoopMove} (made : sessionLoop.Makes move) :
    (move.source.react move.action).1 = move.target := by
  rw [sessionLoop_makes_iff.mp made]

/-- Every move of the loop is an instance of one of the rules. -/
theorem reacts_of_makes {move : LoopMove} (made : sessionLoop.Makes move) :
    SessionLoop.Reacts move.source move.action move.target move.output := by
  have rule := move.source.react_reacts move.action
  rw [sessionLoop_makes_iff.mp made] at rule
  exact rule

/-! ## Inputs by name -/

/-- A clock at zero and media that can always be set up. -/
def Surroundings.calm : Surroundings where
  nowMillis := 0
  withFrameHandler := .ok ()
  start := .ok ()
  setRemoteDescription _ := .ok ()

/-- What this program's own sender offers. -/
def senderCapabilities : Capabilities where
  videoCodecs := ["h264"]
  audioCodecs := []
  maxResolution := none
  maxFramerate := some 30
  supportsCursor := true

namespace IncomingMessage

/-- `connection` asks to cast under the name `displayName`. -/
def request (connection : ConnectionId) (displayName : String) : IncomingMessage :=
  .from connection
    (.sessionRequest "openplay-sender" displayName protocolVersion senderCapabilities)

def offer (connection : ConnectionId) : IncomingMessage :=
  .from connection (.sdpOffer "v=0")

def goodbye (connection : ConnectionId) : IncomingMessage :=
  .from connection (.sessionEnd .userStopped)

end IncomingMessage

namespace Input

def asks (connection : ConnectionId) (displayName : String) : Input :=
  .message (.request connection displayName) .calm

def offers (connection : ConnectionId) : Input := .message (.offer connection) .calm

def ends (connection : ConnectionId) : Input := .message (.goodbye connection) .calm

def allows (connection : ConnectionId) : Input := .decision ⟨connection, true⟩

def denies (connection : ConnectionId) : Input := .decision ⟨connection, false⟩

/-- A cast from its request to its end. -/
def cast (connection : ConnectionId) (displayName : String) : List Input :=
  [asks connection displayName, allows connection, offers connection,
    .webrtc .connected, ends connection]

end Input

end OpenPlay
