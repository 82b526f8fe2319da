import OpenPlay.Pipeline.WebRtc
import OpenPlay.Protocol.Message

/-!
# The sender's side of a cast

`run_openplay_pipeline` of `openplay-sender`'s `casting.rs`, from the connection
it is given to the result it reports: one `SessionRequest`, then the two loops
`wait_for_session_accept` and `drive_session`, with the construction of the media
pipeline between them and the goodbye after them.

A `Cast` is where that function stands.  Each of the two loops looks at the stop
flag at its top and then waits in a `select!`, which are two places of the
program (`waiting false`, `waiting true`), so that a button pressed in between is
noticed one turn later, as in the code.  What the code learns while it runs is in
the input: the message the incoming channel yields (`none` once that channel is
closed), an event of the media session, the result of a call into GStreamer.

## Main definitions

* `Cast.step` — the function, one input at a time
* `Cast.Goes`, `Cast.advance_goes` — its branches as rules
-/

namespace OpenPlay

/-! ## What is sent and shown -/

/-- What a cast is started with. -/
structure CastConfig where
  senderId : String
  displayName : String
  width : UInt32
  height : UInt32
  framerate : UInt32
deriving DecidableEq, Repr

/-- `sanitise_display_name`. -/
def sanitiseDisplayName (name : String) : String :=
  let cleaned := String.ofList ((name.toList.filter fun c => ! isControl c).take maxNameChars)
  if isBlank cleaned then "OpenPlay Sender" else cleaned

/-- The capabilities this sender advertises. -/
def CastConfig.capabilities (config : CastConfig) : Capabilities where
  videoCodecs := ["h264"]
  audioCodecs := []
  maxResolution := some ⟨config.width, config.height⟩
  maxFramerate := some config.framerate
  supportsCursor := true

/-- The one `SessionRequest` of a cast. -/
def CastConfig.sessionRequest (config : CastConfig) : SignalingMessage :=
  .sessionRequest config.senderId (sanitiseDisplayName config.displayName)
    protocolVersion config.capabilities

/-- Turns a rejection into something worth showing a person. -/
def describeRejection : RejectReason → String
  | .busy => "Receiver is already showing another device"
  | .versionMismatch => "Receiver runs a different OpenPlay version — update both ends"
  | .noCompatibleCodecs => "Receiver does not support H.264"
  | .notPaired => "This device is not paired with the receiver"
  | .denied => "The person at the receiver declined the cast"

/-! ## The program -/

/-- Where `run_openplay_pipeline` stands.  The flag of the two loops tells
whether the stop flag has been looked at in this turn. -/
inductive Phase
  /-- Not connected yet. -/
  | offline
  /-- Connected; the request has not been queued. -/
  | connected
  /-- In `wait_for_session_accept`. -/
  | waiting (polled : Bool)
  /-- Accepted; `SenderPipeline::new` comes next. -/
  | building
  /-- The pipeline is there; `start` comes next. -/
  | starting
  /-- In `drive_session`. -/
  | driving (polled : Bool)
  /-- `drive_session` has returned; the goodbye comes next. -/
  | concluding (outcome : Except String Unit)
  /-- The function has returned. -/
  | finished (outcome : Except String Unit)

structure Cast where
  config : CastConfig
  phase : Phase
  stopFlag : Bool

/-- What `run_openplay_pipeline` meets next. -/
inductive CastInput
  /-- The request is queued. -/
  | request
  /-- Somebody presses Stop. -/
  | stop
  /-- The top of a loop: the stop flag is read. -/
  | poll
  /-- `incoming.recv()` yields; `applied` is the result of
  `set_remote_description`, should the message be an answer. -/
  | incoming (message : Option SignalingMessage) (applied : Except String Unit)
  /-- `webrtc_rx.recv()` yields. -/
  | webrtc (event : Option WebRtcEvent)
  /-- The 250 ms of a turn pass. -/
  | sleep
  | newPipeline (result : Except String Unit)
  | startPipeline (result : Except String Unit)
  /-- The goodbye, and `pipeline.stop()`. -/
  | conclude (stopped : Except String Unit)

namespace Cast

/-- The select of `wait_for_session_accept`, on a message. -/
def awaitMessage : Option SignalingMessage → Phase
  | some (.sessionAccept _ _) => .building
  | some (.sessionReject reason) => .finished (.error (describeRejection reason))
  | some _ => .waiting false
  | none => .finished (.error "Receiver closed the connection")

/-- The select of `drive_session`, on a message. -/
def driveMessage (applied : Except String Unit) : Option SignalingMessage → Phase
  | some (.sdpAnswer _) =>
      match applied with
      | .ok _ => .driving false
      | .error e => .concluding (.error ("Receiver sent an unusable answer: " ++ e))
  | some (.sessionEnd _) => .concluding (.ok ())
  | some _ => .driving false
  | none => .concluding (.error "Receiver closed the connection")

/-- `send_or_fail`: the message is queued, unless the write task is gone. -/
def sendOrFail (writer : Bool) (message : SignalingMessage) :
    Phase × List SignalingMessage :=
  if writer then (.driving false, [message])
  else (.concluding (.error "Receiver closed the connection"), [])

/-- The select of `drive_session`, on an event of the media session. -/
def driveEvent (writer : Bool) : Option WebRtcEvent → Phase × List SignalingMessage
  | none => (.concluding (.error "WebRTC event channel closed"), [])
  | some (.localDescription kind sdp) =>
      if kind ≠ .offer then (.driving false, []) else sendOrFail writer (.sdpOffer sdp)
  | some (.iceCandidate sdpMlineIndex candidate) =>
      sendOrFail writer (.iceCandidate candidate none (some sdpMlineIndex))
  | some .iceGatheringComplete => sendOrFail writer .iceComplete
  | some .connected => (.driving false, [])
  | some .disconnected => (.concluding (.ok ()), [])
  | some (.failed reason) => (.concluding (.error ("Media session failed: " ++ reason)), [])

/-- Where the program goes from `phase` on an input, and what it queues for the
receiver.  `writer` tells whether the write task still takes messages. -/
def advance (config : CastConfig) (stopFlag writer : Bool) :
    Phase → CastInput → Option (Phase × List SignalingMessage)
  | .connected, .request =>
      if writer then some (.waiting false, [config.sessionRequest])
      else some (.finished (.error "Signaling closed before the session request was sent"), [])
  | .waiting false, .poll =>
      if stopFlag then some (.finished (.error "Casting stopped by user"), [])
      else some (.waiting true, [])
  | .waiting true, .incoming message _ => some (awaitMessage message, [])
  | .waiting true, .sleep => some (.waiting false, [])
  | .building, .newPipeline (.ok _) => some (.starting, [])
  | .building, .newPipeline (.error e) => some (.finished (.error e), [])
  | .starting, .startPipeline (.ok _) => some (.driving false, [])
  | .starting, .startPipeline (.error e) => some (.finished (.error e), [])
  | .driving false, .poll =>
      if stopFlag then some (.concluding (.error "Casting stopped by user"), [])
      else some (.driving true, [])
  | .driving true, .incoming message applied => some (driveMessage applied message, [])
  | .driving true, .webrtc event => some (driveEvent writer event)
  | .driving true, .sleep => some (.driving false, [])
  | .concluding outcome, .conclude stopped =>
      some
        (.finished
          (match stopped with
            | .ok _ => outcome
            | .error e => .error e),
          if writer then [.sessionEnd .userStopped] else [])
  | _, _ => none

def step (cast : Cast) (writer : Bool) (input : CastInput) :
    Option (Cast × List SignalingMessage) :=
  match input with
  | .stop => some ({ cast with stopFlag := true }, [])
  | input =>
      (advance cast.config cast.stopFlag writer cast.phase input).map fun next =>
        ({ cast with phase := next.1 }, next.2)

end Cast

/-! ## The branches as rules -/

namespace Cast

/-- Why `drive_session` returns. -/
inductive EndsDrive (stopFlag writer : Bool) : Bool → CastInput → Prop
  | stop (pressed : stopFlag = true) : EndsDrive stopFlag writer false .poll
  | media {event : Option WebRtcEvent}
      (gone : event = none ∨ event = some .disconnected ∨
        ∃ reason, event = some (.failed reason)) :
      EndsDrive stopFlag writer true (.webrtc event)
  | unsent {event : Option WebRtcEvent} (gone : writer = false) :
      EndsDrive stopFlag writer true (.webrtc event)
  | closed {applied : Except String Unit} :
      EndsDrive stopFlag writer true (.incoming none applied)
  | ended {reason : SessionEndReason} {applied : Except String Unit} :
      EndsDrive stopFlag writer true (.incoming (some (.sessionEnd reason)) applied)
  | unusable {sdp e : String} :
      EndsDrive stopFlag writer true (.incoming (some (.sdpAnswer sdp)) (.error e))

/-- `Goes config stopFlag writer phase input phase' messages`: everything one
input can do, guards included. -/
inductive Goes (config : CastConfig) (stopFlag writer : Bool) :
    Phase → CastInput → Phase → List SignalingMessage → Prop
  | requested (sent : writer = true) :
      Goes config stopFlag writer .connected .request (.waiting false)
        [config.sessionRequest]
  | unsent {e : String} (gone : writer = false) :
      Goes config stopFlag writer .connected .request (.finished (.error e)) []
  | stopped {e : String} (pressed : stopFlag = true) :
      Goes config stopFlag writer (.waiting false) .poll (.finished (.error e)) []
  | polled (quiet : stopFlag = false) :
      Goes config stopFlag writer (.waiting false) .poll (.waiting true) []
  | accepted {receiverId : String} {negotiated : NegotiatedParams}
      {applied : Except String Unit} :
      Goes config stopFlag writer (.waiting true)
        (.incoming (some (.sessionAccept receiverId negotiated)) applied) .building []
  | rejected {reason : RejectReason} {e : String} {applied : Except String Unit} :
      Goes config stopFlag writer (.waiting true)
        (.incoming (some (.sessionReject reason)) applied) (.finished (.error e)) []
  | hungUp {e : String} {applied : Except String Unit} :
      Goes config stopFlag writer (.waiting true) (.incoming none applied)
        (.finished (.error e)) []
  | waits {input : CastInput} :
      Goes config stopFlag writer (.waiting true) input (.waiting false) []
  | built : Goes config stopFlag writer .building (.newPipeline (.ok ())) .starting []
  | buildFailed {e : String} :
      Goes config stopFlag writer .building (.newPipeline (.error e))
        (.finished (.error e)) []
  | started :
      Goes config stopFlag writer .starting (.startPipeline (.ok ())) (.driving false) []
  | startFailed {e : String} :
      Goes config stopFlag writer .starting (.startPipeline (.error e))
        (.finished (.error e)) []
  | drivePolled (quiet : stopFlag = false) :
      Goes config stopFlag writer (.driving false) .poll (.driving true) []
  | drives {input : CastInput} {messages : List SignalingMessage}
      (heard : ∀ m applied, input = .incoming (some m) applied → m.isSessionEnd = false)
      (media : ∀ m ∈ messages, m.isSessionRequest = false ∧ m.isSessionEnd = false) :
      Goes config stopFlag writer (.driving true) input (.driving false) messages
  | leaves {polled : Bool} {input : CastInput} {outcome : Except String Unit}
      (why : EndsDrive stopFlag writer polled input) :
      Goes config stopFlag writer (.driving polled) input (.concluding outcome) []
  | concluded {outcome result stopped : Except String Unit} :
      Goes config stopFlag writer (.concluding outcome) (.conclude stopped)
        (.finished result) (if writer then [.sessionEnd .userStopped] else [])

variable {config : CastConfig} {stopFlag writer : Bool}

theorem awaitMessage_goes (message : Option SignalingMessage)
    (applied : Except String Unit) :
    Goes config stopFlag writer (.waiting true) (.incoming message applied)
      (awaitMessage message) [] := by
  cases message with
  | none => exact .hungUp
  | some m =>
      cases m with
      | sessionAccept receiverId negotiated => exact .accepted
      | sessionReject reason => exact .rejected
      | _ => exact .waits

theorem driveMessage_goes (message : Option SignalingMessage)
    (applied : Except String Unit) :
    Goes config stopFlag writer (.driving true) (.incoming message applied)
      (driveMessage applied message) [] := by
  have quiet : ∀ m ∈ ([] : List SignalingMessage),
      m.isSessionRequest = false ∧ m.isSessionEnd = false := by simp
  cases message with
  | none => exact .leaves .closed
  | some m =>
      cases m with
      | sdpAnswer sdp =>
          cases applied with
          | ok _ =>
              refine .drives ?_ quiet
              intro m applied h
              cases h
              rfl
          | error e => exact .leaves .unusable
      | sessionEnd reason => exact .leaves .ended
      | _ =>
          refine .drives ?_ quiet
          intro m applied h
          cases h
          rfl

theorem sendOrFail_goes (event : Option WebRtcEvent) {message : SignalingMessage}
    (media : message.isSessionRequest = false ∧ message.isSessionEnd = false) :
    Goes config stopFlag writer (.driving true) (.webrtc event)
      (sendOrFail writer message).1 (sendOrFail writer message).2 := by
  unfold sendOrFail
  cases hwriter : writer with
  | true =>
      refine .drives (fun m applied h => by cases h) ?_
      intro m hm
      rw [List.mem_singleton.mp hm]
      exact media
  | false => exact .leaves (.unsent rfl)

theorem driveEvent_goes (event : Option WebRtcEvent) :
    Goes config stopFlag writer (.driving true) (.webrtc event)
      (driveEvent writer event).1 (driveEvent writer event).2 := by
  have nothing : Goes config stopFlag writer (.driving true) (.webrtc event)
      (.driving false) [] :=
    .drives (fun m applied h => by cases h) (by simp)
  cases event with
  | none => exact .leaves (.media (Or.inl rfl))
  | some event =>
      cases event with
      | localDescription kind sdp =>
          cases kind with
          | offer => exact sendOrFail_goes _ ⟨rfl, rfl⟩
          | answer => exact nothing
      | iceCandidate index candidate => exact sendOrFail_goes _ ⟨rfl, rfl⟩
      | iceGatheringComplete => exact sendOrFail_goes _ ⟨rfl, rfl⟩
      | connected => exact nothing
      | disconnected => exact .leaves (.media (Or.inr (Or.inl rfl)))
      | failed reason => exact .leaves (.media (Or.inr (Or.inr ⟨reason, rfl⟩)))

/-- **The code does nothing but what the rules say.** -/
theorem advance_goes {phase phase' : Phase} {input : CastInput}
    {messages : List SignalingMessage}
    (h : advance config stopFlag writer phase input = some (phase', messages)) :
    Goes config stopFlag writer phase input phase' messages := by
  unfold advance at h
  split at h
  · cases hwriter : writer <;> simp only [hwriter] at h <;> cases h
    · exact .unsent rfl
    · exact .requested rfl
  · cases pressed : stopFlag <;> simp only [pressed] at h <;> cases h
    · exact .polled rfl
    · exact .stopped rfl
  · cases h
    exact awaitMessage_goes _ _
  · cases h
    exact .waits
  · cases h
    exact .built
  · cases h
    exact .buildFailed
  · cases h
    exact .started
  · cases h
    exact .startFailed
  · cases pressed : stopFlag <;> simp only [pressed] at h <;> cases h
    · exact .drivePolled rfl
    · exact .leaves (.stop rfl)
  · cases h
    exact driveMessage_goes _ _
  · rename_i event
    have rule : Goes config stopFlag writer (.driving true) (.webrtc event)
        (driveEvent writer event).1 (driveEvent writer event).2 := driveEvent_goes event
    rw [Option.some.inj h] at rule
    exact rule
  · cases h
    exact .drives (fun m applied h => by cases h) (by simp)
  · cases h
    exact .concluded
  · cases h

/-- A step of a cast sets the stop flag, or goes on in the program. -/
theorem step_goes {cast cast' : Cast} {input : CastInput}
    {messages : List SignalingMessage}
    (h : cast.step writer input = some (cast', messages)) :
    (input = .stop ∧ cast' = { cast with stopFlag := true } ∧ messages = []) ∨
      ∃ phase', cast' = { cast with phase := phase' } ∧
        Goes cast.config cast.stopFlag writer cast.phase input phase' messages := by
  unfold step at h
  split at h
  · cases h
    exact Or.inl ⟨rfl, rfl, rfl⟩
  · obtain ⟨next, hnext, hpair⟩ := Option.map_eq_some_iff.mp h
    cases hpair
    exact Or.inr ⟨_, rfl, advance_goes hnext⟩

end Cast

end OpenPlay
