import OpenPlay.Foundation.AssocList
import OpenPlay.Pipeline.WebRtc
import OpenPlay.Signaling.Connection

/-!
# The receiver's session loop

`SessionLoop` of `openplay-receiver`'s `net.rs`: the state it owns and the four
handlers its `select!` runs, one event at a time.  A handler returns the next
state and the list of its **effects** on the world, in the order in which the
code performs them.  Logging is left out.

What the code learns from the world while it runs is an argument: the clock and
the results of the GStreamer calls (`Surroundings`), and whether a reply channel
is still open (`Liveness`).

The media side of an approved session is created once, by `handleOffer`, so a
`WebRtcPeer` is named by the session it was built for.  `SessionLoop.activations`
counts approvals to number the sessions; the code has no such counter, and no
handler reads it except to name a new `Active`.
-/

namespace OpenPlay

/-! ## State -/

/-- What the window shows about the current connection. -/
inductive Status
  | waiting
  | pendingConsent (senderName : String) (connection : ConnectionId)
  | negotiating (senderName : String)
  | streaming (senderName : String)
  | failed (reason : String)
deriving DecidableEq, Repr

/-- The most recent decoded frame, and a counter the window compares. -/
structure FrameSlot where
  frame : Option VideoFrame
  sequence : UInt64
deriving DecidableEq, Repr

def FrameSlot.default : FrameSlot := ⟨none, 0⟩

/-- `store_frame`. -/
def FrameSlot.store (slot : FrameSlot) (frame : VideoFrame) : FrameSlot :=
  ⟨some frame, slot.sequence + 1⟩

/-- `clear_frame`. -/
def FrameSlot.clear (slot : FrameSlot) : FrameSlot :=
  ⟨none, slot.sequence + 1⟩

/-- The user's answer to a consent prompt. -/
structure Decision where
  connection : ConnectionId
  accept : Bool
deriving DecidableEq, Repr

/-- A sender that has asked to cast but has not yet been approved. -/
structure Pending where
  reply : ConnectionHandle
  displayName : String
  framerate : UInt32
deriving DecidableEq, Repr

/-- The peer built for one session, named by that session. -/
structure WebRtcPeer where
  session : Nat
deriving DecidableEq, Repr

/-- The GStreamer side of one accepted session. -/
structure Media where
  peer : WebRtcPeer
deriving DecidableEq, Repr

/-- An approved sender, and the media session belonging to it. -/
structure Active where
  session : Nat
  connection : ConnectionId
  reply : ConnectionHandle
  displayName : String
  media : Option Media
deriving DecidableEq, Repr

/-- All session state. -/
structure SessionLoop where
  config : AppConfig
  status : Status
  frame : FrameSlot
  pending : AList fun _ : ConnectionId => Pending
  active : Option Active
  undiscoverable : Option String
  activations : Nat

/-- What a handler does to the world, call by call.  A pipeline that is merely
dropped stops by itself and is not listed. -/
inductive Effect
  /-- One `ConnectionHandle::send` call. -/
  | send (reply : ConnectionHandle) (message : SignalingMessage)
  /-- The status cell is written. -/
  | setStatus (next : Status)
  /-- A `ReceiverPipeline` was built and a `WebRtcPeer` attached to it. -/
  | buildPipeline (connection : ConnectionId) (peer : WebRtcPeer)
  | addIceCandidate (peer : WebRtcPeer) (sdpMlineIndex : UInt32) (candidate : String)
  | stopPipeline (peer : WebRtcPeer)
deriving DecidableEq, Repr

/-- The message an effect sends to `c`. -/
def Effect.sentTo (c : ConnectionId) : Effect → Option SignalingMessage
  | .send reply message => if reply.id = c then some message else none
  | _ => none

/-- The messages a turn sends to `c`, in order. -/
def sentTo (c : ConnectionId) (effects : List Effect) : List SignalingMessage :=
  effects.filterMap (Effect.sentTo c)

theorem mem_sentTo {c : ConnectionId} {effects : List Effect}
    {message : SignalingMessage} :
    message ∈ sentTo c effects ↔
      ∃ reply, Effect.send reply message ∈ effects ∧ reply.id = c := by
  rw [sentTo, List.mem_filterMap]
  constructor
  · rintro ⟨effect, mem, hsent⟩
    cases effect with
    | send reply message' =>
        rw [Effect.sentTo] at hsent
        split at hsent
        · rename_i hid
          cases hsent
          exact ⟨reply, mem, hid⟩
        · cases hsent
    | _ => cases hsent
  · rintro ⟨reply, mem, hid⟩
    refine ⟨_, mem, ?_⟩
    rw [Effect.sentTo, if_pos hid]

/-- The clock, and the results of the calls into GStreamer. -/
structure Surroundings where
  nowMillis : UInt64
  withFrameHandler : Except String Unit
  start : Except String Unit
  setRemoteDescription : String → Except String Unit

/-- What `is_connected` answers during one liveness tick: when the pending map
is swept, and afterwards when the active session is looked at.  A reply channel
that is closed stays closed. -/
structure Liveness where
  atRetain : ConnectionId → Bool
  atActive : ConnectionId → Bool
  closed_stays_closed : ∀ c, atActive c = true → atRetain c = true

namespace SessionLoop

/-- `SessionLoop::new`, with the status cell as it is handed over. -/
def new (config : AppConfig) (status : Status) (undiscoverable : Option String) :
    SessionLoop where
  config := config
  status := status
  frame := .default
  pending := ∅
  active := none
  undiscoverable := undiscoverable
  activations := 0

/-! ## Status and teardown -/

def setStatus (s : SessionLoop) (next : Status) : SessionLoop × List Effect :=
  ({ s with status := next }, [.setStatus next])

/-- The page between sessions: `Waiting`, unless startup left a failure worth
keeping. -/
def idleStatus (s : SessionLoop) : Status :=
  match s.undiscoverable with
  | some reason => .failed reason
  | none => .waiting

/-- `reset_status`. -/
def resetStatus (s : SessionLoop) : SessionLoop × List Effect :=
  s.setStatus s.idleStatus

/-- The part `tear_down` and `fail` share: take the active session, stop its
pipeline and tell its sender. -/
def takeActive (s : SessionLoop) (reason : SessionEndReason) :
    SessionLoop × List Effect :=
  match s.active with
  | some active =>
      ({ s with active := none },
        (active.media.toList.map fun media => .stopPipeline media.peer) ++
          [.send active.reply (.sessionEnd reason)])
  | none => (s, [])

/-- `tear_down`: ends the session and returns to the waiting page. -/
def tearDown (s : SessionLoop) : SessionLoop × List Effect :=
  let taken := s.takeActive .userStopped
  let cleared := { taken.1 with frame := taken.1.frame.clear }
  let shown := cleared.resetStatus
  (shown.1, taken.2 ++ shown.2)

/-- `fail`: ends the session and shows why. -/
def fail (s : SessionLoop) (reason : String) : SessionLoop × List Effect :=
  let taken := s.takeActive .error
  let cleared := { taken.1 with frame := taken.1.frame.clear }
  let shown := cleared.setStatus (.failed reason)
  (shown.1, taken.2 ++ shown.2)

/-! ## Ownership -/

/-- `owns_session`. -/
def ownsSession (s : SessionLoop) (connection : ConnectionId) : Bool :=
  s.active.any fun a => a.connection == connection

/-- `media_for`: the media for `connection`, if it owns the active session. -/
def mediaFor (s : SessionLoop) (connection : ConnectionId) : Option Media :=
  s.active.bind fun active =>
    active.media.bind fun media =>
      if active.connection = connection then some media else none

/-! ## Handlers -/

def handleSessionRequest (s : SessionLoop) (connection : ConnectionId)
    (reply : ConnectionHandle) (displayName : String) (protocolVersion : UInt32)
    (capabilities : Capabilities) : SessionLoop × List Effect :=
  if protocolVersion ≠ OpenPlay.protocolVersion then
    (s, [.send reply (.sessionReject .versionMismatch)])
  else if ¬ (capabilities.videoCodecs.any fun c => c == "h264") then
    (s, [.send reply (.sessionReject .noCompatibleCodecs)])
  else if s.active.any fun active => active.connection != connection then
    (s, [.send reply (.sessionReject .busy)])
  else if s.pending.first.any fun entry => entry.1 != connection then
    (s, [.send reply (.sessionReject .busy)])
  else
    let framerate := min (capabilities.maxFramerate.getD s.config.framerate)
      s.config.framerate
    let shown := s.setStatus (.pendingConsent displayName connection)
    ({ shown.1 with
        pending := shown.1.pending.insert connection ⟨reply, displayName, framerate⟩ },
      shown.2)

/-- Applies the user's accept/deny answer to a pending request. -/
def handleDecision (s : SessionLoop) (decision : Decision) :
    SessionLoop × List Effect :=
  match s.pending.lookup decision.connection with
  | none => (s, [])
  | some pending =>
      let s := { s with pending := s.pending.erase decision.connection }
      if ¬ decision.accept then
        let shown := s.resetStatus
        (shown.1, .send pending.reply (.sessionReject .denied) :: shown.2)
      else
        let negotiated : NegotiatedParams :=
          { videoCodec := "h264"
            audioCodec := none
            maxBitrateKbps := s.config.maxBitrateKbps
            framerate := pending.framerate }
        let shown := s.setStatus (.negotiating pending.displayName)
        let active : Active :=
          { session := s.activations
            connection := decision.connection
            reply := pending.reply
            displayName := pending.displayName
            media := none }
        ({ shown.1 with active := some active, activations := s.activations + 1 },
          .send pending.reply (.sessionAccept s.config.displayName negotiated) ::
            shown.2)

/-- Builds the media pipeline and answers the sender's offer. -/
def handleOffer (s : SessionLoop) (connection : ConnectionId) (sdp : String)
    (around : Surroundings) : SessionLoop × List Effect :=
  match s.active with
  | none => (s, [])
  | some active =>
      if active.connection ≠ connection then (s, [])
      else if active.media.isSome then (s, [])
      else
        match around.withFrameHandler with
        | .error e => s.fail ("Could not start video: " ++ e)
        | .ok _ =>
            -- From here on the peer exists and holds a clone of the event sender,
            -- also on the two paths that give the session up.
            let peer : WebRtcPeer := ⟨active.session⟩
            let built := Effect.buildPipeline connection peer
            match around.start with
            | .error e =>
                let failed := s.fail ("Could not start video: " ++ e)
                (failed.1, built :: failed.2)
            | .ok _ =>
                match around.setRemoteDescription sdp with
                | .error e =>
                    let failed := s.fail ("Could not accept the video offer: " ++ e)
                    (failed.1, built :: failed.2)
                | .ok _ =>
                    ({ s with active := some { active with media := some ⟨peer⟩ } },
                      [built])

/-- Forwards a WebRTC event to the sender, or reflects it in the UI. -/
def handleWebrtcEvent (s : SessionLoop) (event : WebRtcEvent) :
    SessionLoop × List Effect :=
  match s.active with
  | none => (s, [])
  | some active =>
      match event with
      | .localDescription kind sdp =>
          if kind ≠ .answer then (s, [])
          else (s, [.send active.reply (.sdpAnswer sdp)])
      | .iceCandidate sdpMlineIndex candidate =>
          (s, [.send active.reply (.iceCandidate candidate none (some sdpMlineIndex))])
      | .iceGatheringComplete => (s, [.send active.reply .iceComplete])
      | .connected => s.setStatus (.streaming active.displayName)
      | .disconnected => s.tearDown
      | .failed reason => s.fail reason

/-- The prompt on screen names a request that is no longer pending. -/
def stalePrompt (s : SessionLoop) : Bool :=
  match s.status with
  | .pendingConsent _ connection => ! decide (connection ∈ s.pending)
  | _ => false

/-- Ends sessions and prompts whose sender has gone away. -/
def dropDeadConnections (s : SessionLoop) (seen : Liveness) :
    SessionLoop × List Effect :=
  let s := { s with
    pending := s.pending.retain fun _ pending => seen.atRetain pending.reply.id }
  let activeDead := s.active.any fun a => ! seen.atActive a.reply.id
  if activeDead then s.tearDown
  else if s.stalePrompt then s.resetStatus
  else (s, [])

/-- Answers one signaling message. -/
def handleMessage (s : SessionLoop) (incoming : IncomingMessage)
    (around : Surroundings) : SessionLoop × List Effect :=
  let connection := incoming.connection
  match incoming.message with
  | .sessionRequest _ displayName protocolVersion capabilities =>
      s.handleSessionRequest connection incoming.reply displayName protocolVersion
        capabilities
  | .sdpOffer sdp => s.handleOffer connection sdp around
  | .iceCandidate candidate _ sdpMlineIndex =>
      match s.mediaFor connection with
      | none => (s, [])
      | some media =>
          (s, [.addIceCandidate media.peer (sdpMlineIndex.getD 0) candidate])
  | .iceComplete => (s, [])
  | .ping timestampMs =>
      (s, [.send incoming.reply (.pong timestampMs around.nowMillis)])
  | .sessionEnd _ =>
      -- Only the connection that owns the session may end it; the pending
      -- request is withdrawn either way, and the status cell is left alone.
      let ended := if s.ownsSession connection then s.tearDown else (s, [])
      ({ ended.1 with pending := ended.1.pending.erase connection }, ended.2)
  | _ => (s, [])

end SessionLoop

end OpenPlay
